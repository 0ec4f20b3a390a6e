import Buildwatch.Machine.Shell.BuiltIn.Basic

/-!
# Built-in commands on variables

Variables are given values and marks, read from the input, and made from the options in
arguments; options of the shell itself are set and listed.
-/

namespace Buildwatch.Machine.Shell.BuiltIn

open Act

/-! ## Marks -/

/-- The variables of the shell in order, each as a row. -/
def rows (row : Raw × Variable → Option Raw) : BuiltIn Unit := do
  let bindings := (← get).scope.bindings.mergeSort fun a b => !Raw.before b.1 a.1
  say (bindings.filterMap row).flatten

/-- Gives variables a value and a mark, or lists those that have the mark. -/
def declare (command : String) (mark : Variable → Variable) (isMarked : Variable → Bool)
    (args : List Raw) : BuiltIn Nat := do
  let (given, operands) ← letters "p" args
  if operands.isEmpty || given.contains 'p' then
    rows fun (name, v) =>
      let value := (v.value.map fun r => '=' :: quoteValue r).getD []
      if isMarked v then some (Raw.ascii command ++ ' ' :: name ++ value ++ ['\n']) else none
  else
    for a in operands do
      let (name, value) := splitAssignment a
      if !isName name then throw (name ++ Raw.ascii ": bad variable name")
      match value with
      | some value => assign name value
      | none => pure ()
      onScope fun s => s.update name mark
  return 0

/-- Puts a variable aside for the end of the function at hand. -/
def keepForFunction (name : Raw) (old : Option Variable) : List Frame → List Frame
  | .leave arguments progress locals :: fs => .leave arguments progress ((name, old) :: locals) :: fs
  | f :: fs => f :: keepForFunction name old fs
  | [] => []

/-- Makes variables, or the options, local to a function. -/
def makeLocal (args : List Raw) : BuiltIn Nat := do
  if !(← get).frames.any isFunctionEnd then throw (Raw.ascii "not in a function")
  for a in args do
    let (name, value) := splitAssignment a
    let scope := (← get).scope
    if name = optionsName then
      let old : Variable := { value := some scope.options }
      update fun s => { s with frames := keepForFunction name (some old) s.frames }
    else
      checkName name
      let old := scope.bindings.lookup name
      update fun s => { s with frames := keepForFunction name old s.frames }
      match value with
      | some value => onScope fun s => s.assign name value
      | none => pure ()
  return 0

def unset (args : List Raw) : BuiltIn Nat := do
  let (given, names) ← letters "vf" args
  for name in names do
    if given.getLast? = some 'f' then
      update fun s => { s with functions := s.functions.filter (·.1 ≠ name) }
    else
      checkName name
      -- Options are read by a number that has to be there.
      if name = Raw.ascii "OPTIND" then throw (Raw.ascii "Illegal number: ")
      onScope fun s => { s with bindings := s.bindings.filter (·.1 ≠ name) }
  return 0

/-! ## Options of the shell -/

def setOption (isOn : Bool) (c : Char) : BuiltIn Unit := do
  if c = ' ' then return
  if !Scope.optionNames.any (·.2 = c) then mistake "Illegal option -" [c]
  if isOn && c = 'm' then
    complainOf "set" (Raw.ascii "can't access tty; job control turned off")
  else
    onScope fun s =>
      let others := s.options.filter (· ≠ c)
      { s with options := if isOn then c :: others else others }

def listOptions (isPlain : Bool) : BuiltIn Unit := do
  let set := (← get).scope.options
  if isPlain then sayLine (Raw.ascii "Current option settings")
  for (name, c) in Scope.optionNames do
    let isSet := set.contains c
    if isPlain then
      let text := Raw.ascii name
      sayLine (text ++ List.replicate (16 - text.length) ' ' ++ Raw.ascii (if isSet then "on" else "off"))
    else sayLine (Raw.ascii (if isSet then "set -o " else "set +o ") ++ Raw.ascii name)

/-- Replaces the arguments of the script. -/
def setArguments (arguments : List Raw) : BuiltIn Unit := do
  onScope fun s => { s with arguments }
  update fun s => { s with progress := {} }

/-- Sets the options that letters stand for; the answer is the arguments behind them. -/
def setLetters (isOn : Bool) : Raw → List Raw → BuiltIn (List Raw)
  | [], rest => return rest
  | 'o' :: r, rest => do
    match rest with
    | [] =>
      listOptions isOn
      setLetters isOn r []
    | name :: rest =>
      match Scope.optionNames.find? fun (n, _) => n.toList = name with
      | some (_, c) => setOption isOn c
      | none => mistake "Illegal option -o " name
      setLetters isOn r rest
  | c :: r, rest => do
    setOption isOn c
    setLetters isOn r rest

/-- Sets options and arguments. -/
def setAll : (fuel : Nat) → List Raw → BuiltIn Unit
  | 0, _ => return
  | fuel + 1, args => do
    match args with
    | [] => return
    | ['-'] :: rest =>
      setOption false 'x'
      setOption false 'v'
      if !rest.isEmpty then setArguments rest
    | ['-', '-'] :: rest => setArguments rest
    | ('-' :: c :: r) :: rest => setAll fuel (← setLetters true (c :: r) rest)
    | ('+' :: r) :: rest => setAll fuel (← setLetters false r rest)
    | args => setArguments args

def set (args : List Raw) : BuiltIn Nat := do
  if args.isEmpty then
    rows fun (name, v) => v.value.map fun r => name ++ '=' :: quoteValue r ++ ['\n']
  else setAll (args.length + 1) args
  return 0

def shift (args : List Raw) : BuiltIn Nat := do
  let n ← firstNumber args 1
  let arguments := (← get).scope.arguments
  if arguments.length < n then throw (Raw.ascii "can't shift that many")
  setArguments (arguments.drop n)
  return 0

/-! ## Reading -/

/-- Takes a line with the lines that its backslashes join to it; the answer tells whether it is
whole. A character that a backslash has protected is marked. -/
def readJoined (isRaw : Bool) : (fuel : Nat) → BuiltIn (List (Char × Bool) × Bool)
  | 0 => return ([], false)
  | fuel + 1 => do
    let text := ((← readLine 0).toOption.getD []).filter (· ≠ '\x00')
    let isWhole := text.getLast? = some '\n'
    let line := if isWhole then text.dropLast else text
    if isRaw then return (line.map (·, false), isWhole)
    else
      let (marked, isOpen) := protect line
      if isOpen && isWhole then
        let (more, isWhole) ← readJoined isRaw fuel
        return (marked ++ more, isWhole)
      else return (marked, isWhole)
where
  protect : Raw → List (Char × Bool) × Bool
    | ['\\'] => ([], true)
    | '\\' :: c :: r =>
      let (marked, isOpen) := protect r
      ((c, true) :: marked, isOpen)
    | c :: r =>
      let (marked, isOpen) := protect r
      ((c, false) :: marked, isOpen)
    | [] => ([], false)

/-- Splits a line into as many fields as there are names. The last one takes the rest, without
blanks at its end; a single separator behind a single field is dropped too. -/
def fieldsFor (separators : Raw) : (names : List Raw) → List (Char × Bool) → List (Raw × Raw)
  | [], _ => []
  | [name], line =>
    let field := line.takeWhile fun p => !isSeparator p
    let behind := (line.drop field.length).dropWhile isBlank
    let behind := match behind with
      | p :: rest => if isSeparator p then rest.dropWhile isBlank else behind
      | [] => []
    if behind.isEmpty then [(name, field.map (·.1))]
    else [(name, ((line.reverse.dropWhile isBlank).reverse).map (·.1))]
  | name :: names, line =>
    let field := line.takeWhile fun p => !isSeparator p
    let behind := (line.drop field.length).dropWhile isBlank
    let behind := match behind with
      | p :: rest => if isSeparator p then rest.dropWhile isBlank else behind
      | [] => []
    (name, field.map (·.1)) :: fieldsFor separators names behind
where
  isSeparator (p : Char × Bool) : Bool := !p.2 && separators.contains p.1
  isBlank (p : Char × Bool) : Bool := isSeparator p && (p.1 = ' ' || p.1 = '\t' || p.1 = '\n')

def readInto (args : List Raw) : BuiltIn Nat := do
  let (given, names) ← options ['p', 'r'] ['p'] (Raw.total (args.map (·.length + 1)) + 1) args
  if names.isEmpty then throw (Raw.ascii "arg count")
  let (line, isWhole) ← readJoined (given.any (·.1 = 'r')) 1048576
  let separators := (← get).scope.separators
  let isBlank (p : Char × Bool) : Bool :=
    !p.2 && separators.contains p.1 && (p.1 = ' ' || p.1 = '\t' || p.1 = '\n')
  for (name, value) in fieldsFor separators names (line.dropWhile isBlank) do assign name value
  return if isWhole then 0 else 1

/-! ## Options in arguments -/

/-- Takes the next option letter from arguments. -/
def nextOption (args : List Raw) : BuiltIn Nat := do
  match args with
  | spec :: var :: rest =>
    let s ← get
    let given := if rest.isEmpty then s.scope.arguments else rest
    let isSilent := spec.head? = some ':'
    -- What is left of the argument at hand, and the number of the next one.
    let open? : Option Raw :=
      match s.progress.letters, given[s.progress.index - 2]? with
      | some n, some a => if 1 < s.progress.index && n < a.length then some (a.drop n) else none
      | _, _ => none
    let (rest?, index) : Option Raw × Nat :=
      match open? with
      | some r => (some r, s.progress.index)
      | none =>
        match given[s.progress.index - 1]? with
        | some ['-', '-'] => (none, s.progress.index + 1)
        | some ('-' :: c :: r) => (some (c :: r), s.progress.index + 1)
        | _ => (none, s.progress.index)
    let settle (letter : Char) (left : Raw) (index status : Nat) : BuiltIn Nat := do
      let whole := (given[index - 2]?).getD []
      update fun s =>
        { s with progress := { index, letters := if left = [] then none else some (whole.length - left.length) } }
      onScope fun s => s.assign (Raw.ascii "OPTIND") (Raw.ofNat index)
      assign var [letter]
      return status
    let argument (value : Option Raw) : BuiltIn Unit :=
      onScope fun s => s.update (Raw.ascii "OPTARG") fun v => { v with value }
    match rest? with
    | none => settle '?' [] index 1
    | some [] => settle '?' [] index 1
    | some (c :: left) =>
      if c = ':' || !spec.contains c then
        if isSilent then argument (some [c])
        else
          discard <| write 2 (Raw.ascii "Illegal option -" ++ [c, '\n'])
          argument none
        settle '?' left index 0
      else if ((spec.dropWhile (· ≠ c)).drop 1).head? = some ':' then
        if left ≠ [] then
          argument (some left)
          settle c [] index 0
        else
          match given[index - 1]? with
          | some value =>
            argument (some value)
            settle c [] (index + 1) 0
          | none =>
            if isSilent then
              argument (some [c])
              settle ':' [] index 0
            else
              discard <| write 2 (Raw.ascii "No arg for -" ++ [c] ++ Raw.ascii " option\n")
              argument none
              settle '?' [] index 0
      else
        argument (some [])
        settle c left index 0
  | _ => throw (Raw.ascii "Usage: getopts optstring var [arg...]")

end Buildwatch.Machine.Shell.BuiltIn
