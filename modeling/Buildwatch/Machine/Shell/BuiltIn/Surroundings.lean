import Buildwatch.Machine.Shell.BuiltIn.Basic

/-!
# Built-in commands on the surroundings

The directory that the shell is in, the rights that new files are not given, and the
limits that programs have.
-/

namespace Buildwatch.Machine.Shell.BuiltIn

open Act

/-! ## Directories -/

/-- The path of the directory that the shell is in, with the links that led to it. -/
def logicalDirectory : Act String := do
  let t ← self
  let path := Raw.toText (((← get).scope.textOf? (Raw.ascii "PWD")).getD [])
  match (← machine).files.find true [] path with
  | .ok (place, _) => return if Path.isAbsolute path && place = t.cwd then path else t.cwd.path
  | .error _ => return t.cwd.path

/-- A path without dots, worked out on the names alone. -/
def withoutDots (path : String) : String := Place.path (Names.withoutDots (Files.namesOf path))

/-- Goes to a directory; the answer tells whether that is possible. -/
def enter (isPhysical : Bool) (path : Raw) : BuiltIn Bool := do
  let t ← self
  let here ← logicalDirectory
  let given := Raw.toText path
  let logical := withoutDots (if Path.isAbsolute given then given else here ++ "/" ++ given)
  match (← machine).files.find true t.cwd (if isPhysical then given else logical) with
  | .error _ => return false
  | .ok (place, node) =>
    if !node.isDirectory then return false
    onSelf fun t => { t with cwd := place }
    let note (name path : String) : BuiltIn Unit :=
      onScope fun s =>
        s.update (Raw.ascii name) fun v => { v with value := some (Raw.ofString path), isExported := true }
    note "OLDPWD" here
    note "PWD" (if isPhysical then place.path else logical)
    return true

/-- Whether a path starts with a dot, two dots or a slash that stand for a name. -/
def isAnchored (path : Raw) : Bool :=
  match path with
  | '/' :: _ | ['.'] | '.' :: '/' :: _ | ['.', '.'] | '.' :: '.' :: '/' :: _ => true
  | _ => false

def cd (args : List Raw) : BuiltIn Nat := do
  let (given, operands) ← letters "LP" args
  let isPhysical := given.getLast? = some 'P'
  let s := (← get).scope
  let valueOf (name : String) : Raw := (s.textOf? (Raw.ascii name)).getD []
  let (target, isBack) := match operands with
    | [] => (valueOf "HOME", false)
    | ['-'] :: _ => (valueOf "OLDPWD", true)
    | a :: _ => (a, false)
  let goal := if target = [] then ['.'] else target
  let view ← view
  let searched := match s.textOf? (Raw.ascii "CDPATH") with
    | some path => if isAnchored goal then [] else Text.cutAt ':' path
    | none => []
  let inside (d : Raw) : Raw :=
    if d = [] then goal else if d.getLast? = some '/' then d ++ goal else d ++ '/' :: goal
  let (path, isFar) := match searched.find? fun d => view.isDirectory (inside d) with
    | some d => (inside d, !d.isEmpty)
    | none => (goal, false)
  if !(← enter isPhysical path) then throw (Raw.ascii "can't cd to " ++ target)
  if isBack || isFar then sayLine (Raw.ofString (← logicalDirectory))
  return 0

def pwd (args : List Raw) : BuiltIn Nat := do
  let (given, _) ← letters "LP" args
  let here ← if given.getLast? = some 'P' then pure (← self).cwd.path else logicalDirectory
  sayLine (Raw.ofString here)
  return 0

/-! ## Rights -/

def rightsOf (bits : Nat) : Raw :=
  (if bits &&& 4 ≠ 0 then ['r'] else []) ++ (if bits &&& 2 ≠ 0 then ['w'] else []) ++
    if bits &&& 1 ≠ 0 then ['x'] else []

/-- The places of the rights of owners, as a factor. -/
def placesOf (owners : Raw) : Nat :=
  if owners = [] || owners.contains 'a' then 0o111
  else (if owners.contains 'u' then 0o100 else 0) + (if owners.contains 'g' then 0o10 else 0) +
    if owners.contains 'o' then 1 else 0

/-- The rights that a letter stands for, given those that there are. -/
def rightsFor (rights : Nat) (c : Char) : Nat :=
  match c with
  | 'r' => 4
  | 'w' => 2
  | 'x' => 1
  | 'u' => rights >>> 6
  | 'g' => rights >>> 3
  | 'o' => rights
  | 'X' => if rights &&& 0o111 = 0 then 0 else 1
  | _ => 0

/-- Changes rights as letters and signs say; there is no answer if they make no sense. -/
def changedRights (given : Nat) : (fuel : Nat) → (owners : Raw) → (rights : Nat) → Raw → Option Nat
  | 0, _, _, _ => none
  | fuel + 1, owners, rights, r =>
    let named := r.takeWhile fun c => "augo".toList.contains c
    let owners := owners ++ named
    match r.drop named.length with
    | [] => some rights
    | sign :: rest =>
      if !"=+-".toList.contains sign then none
      else
        let letters := rest.takeWhile fun c => "rwxugoXs".toList.contains c
        let bits := letters.foldl (fun bits c => bits ||| rightsFor given c) 0 &&& 7
        let places := placesOf owners
        let bits := bits * places
        let rights := match sign with
          | '-' => rights &&& (0o777 ^^^ bits)
          | '+' => rights ||| bits
          | _ => bits ||| (rights &&& (0o777 ^^^ (places * 7)))
        match rest.drop letters.length with
        | [] => some rights
        | ',' :: rest => changedRights given fuel [] rights rest
        | c :: rest => if "=+-".toList.contains c then changedRights given fuel owners rights (c :: rest) else none

/-- Shows or changes which rights new files are not given. -/
def umask (args : List Raw) : BuiltIn Nat := do
  let (given, operands) ← letters "S" args
  let mask := (← self).umask
  let rights := 0o777 - mask
  match operands with
  | [] =>
    if given.contains 'S' then
      sayLine (Raw.ascii "u=" ++ rightsOf (rights >>> 6) ++ Raw.ascii ",g=" ++ rightsOf (rights >>> 3) ++
        Raw.ascii ",o=" ++ rightsOf rights)
    else
      let digits := Raw.inBase 8 mask
      sayLine (List.replicate (4 - digits.length) '0' ++ digits)
  | mode :: _ =>
    if mode.head?.any Raw.isDigit then
      if mode.all fun c => '0' ≤ c && c ≤ '7' then
        let (n, _) := Raw.takeDigits 8 mode.length 0 mode
        onSelf fun t => { t with umask := n &&& 0o777 }
      else mistake "Illegal number: " mode
    else
      match changedRights rights (mode.length + 1) [] rights mode with
      | some new => onSelf fun t => { t with umask := 0o777 - (new &&& 0o777) }
      | none => mistake "Illegal mode: " mode
  return 0

/-! ## Limits -/

structure Limit where
  letter : Char
  name : String
  /-- The amount at the start, if there is a limit. -/
  amount : Option Nat := none

def limits : List Limit :=
  [{ letter := 't', name := "time(seconds)" }, { letter := 'f', name := "file(blocks)" },
    { letter := 'd', name := "data(kbytes)" }, { letter := 's', name := "stack(kbytes)", amount := some 8192 },
    { letter := 'c', name := "coredump(blocks)", amount := some 0 },
    { letter := 'm', name := "memory(kbytes)" },
    { letter := 'l', name := "locked memory(kbytes)", amount := some 8192 },
    { letter := 'p', name := "process", amount := some 128604 },
    { letter := 'n', name := "nofiles", amount := some 20000 }, { letter := 'v', name := "vmemory(kbytes)" },
    { letter := 'w', name := "locks" }, { letter := 'r', name := "rtprio", amount := some 0 }]

def ulimit (args : List Raw) : BuiltIn Nat := do
  let (given, operands) ← letters (String.ofList ("HSa".toList ++ limits.map (·.letter))) args
  let chosen := (given.filter fun c => !"HSa".toList.contains c).getLast?.getD 'f'
  let isAll := given.contains 'a'
  let set := (← get).limits
  let amountOf (l : Limit) : Raw :=
    match (set.lookup l.letter).map some |>.getD l.amount with
    | some n => Raw.ofNat n
    | none => Raw.ascii "unlimited"
  match operands with
  | [] =>
    for l in limits do
      if isAll then
        let title := Raw.ascii l.name
        sayLine (title ++ List.replicate (20 - title.length) ' ' ++ ' ' :: amountOf l)
      else if l.letter = chosen then sayLine (amountOf l)
  | a :: rest =>
    if isAll || !rest.isEmpty then throw (Raw.ascii "too many arguments")
    if a ≠ Raw.ascii "unlimited" then
      if !a.all Raw.isDigit then throw (Raw.ascii "bad number")
      let n := (Raw.natural? a).getD 0
      update fun s => { s with limits := (chosen, n) :: s.limits.filter (·.1 ≠ chosen) }
  return 0

/-- How much time the shell and its children have taken; nothing here takes any. -/
def times : BuiltIn Nat := do
  for _ in [(), ()] do sayLine (Raw.ascii "0m0.000000s 0m0.000000s")
  return 0

end Buildwatch.Machine.Shell.BuiltIn
