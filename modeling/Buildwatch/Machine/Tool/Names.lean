import Buildwatch.Machine.Changes
import Buildwatch.Machine.Tool.Basic

/-!
# Names of files

Tools that take paths apart, follow links, and check names.
-/

namespace Buildwatch.Machine.Names

/-! ## Taking apart -/

/-- The path without slashes at its end. -/
def withoutSlashes (path : Raw) : Raw := (path.reverse.dropWhile (· = '/')).reverse

/-- The last name of a path. -/
def last (path : Raw) : Raw :=
  let p := withoutSlashes path
  if p = [] then if path = [] then [] else ['/']
  else (p.reverse.takeWhile (· ≠ '/')).reverse

/-- The path of the directory that a path leads into. -/
def directory (path : Raw) : Raw :=
  let p := withoutSlashes path
  if p = [] then if path = [] then ['.'] else ['/']
  else if !p.contains '/' then ['.']
  else
    let front := withoutSlashes ((p.reverse.dropWhile (· ≠ '/')).reverse)
    if front = [] then ['/'] else front

def inside (directory name : Raw) : Raw :=
  if directory.getLast? = some '/' then directory ++ name else directory ++ '/' :: name

def withoutEnding (name ending : Raw) : Raw :=
  let front := name.take (name.length - ending.length)
  if front ≠ [] && front ++ ending = name then front else name

def basename : Tool Nat := do
  let c ← Tool.call { letters := "as:z", long := "multiple=a suffix:=s zero=z", permutes := false }
  let newline := if c.has "z" then '\x00' else '\n'
  let ending := (c.value? "s").getD []
  if c.operands.isEmpty then Tool.misuse (Raw.ascii "missing operand")
  if c.has "a" || c.has "s" then
    for name in c.operands do Tool.say (withoutEnding (last name) ending ++ [newline])
  else
    if let extra :: _ := c.operands.drop 2 then
      Tool.misuse (Raw.ascii "extra operand " ++ Quoting.plain extra)
    let name := last (c.operands.head?.getD [])
    Tool.say (withoutEnding name ((c.operands[1]?).getD []) ++ [newline])
  return 0

def dirname : Tool Nat := do
  let c ← Tool.call { letters := "z", long := "zero=z", permutes := false }
  if c.operands.isEmpty then Tool.misuse (Raw.ascii "missing operand")
  for path in c.operands do Tool.say (directory path ++ [if c.has "z" then '\x00' else '\n'])
  return 0

/-- A path and the paths of all that is in it, each directory before what is in it. -/
def withContents (v : View) (path : Raw) : List Raw :=
  match v.find false path with
  | .ok (place, node) =>
    if node.isDirectory then
      path :: (v.files.placesIn place).map fun names => inside path (Raw.ofString ("/".intercalate names))
    else [path]
  | .error _ => [path]

/-! ## Places -/

/-- What has to be there for a path to have a place. -/
inductive Demand
  | all
  | allButLast
  | nothing
  deriving DecidableEq

/-- The names without dots, worked out on the names alone. -/
def withoutDots (names : List String) : List String :=
  names.foldl (fun names name =>
    if name = "." then names else if name = ".." then names.dropLast else names ++ [name]) []

/-- Follows names as long as something is there. -/
def place (v : View) (d : Demand) (path : Raw) : Except FileError Place :=
  match v.locate true path with
  | .ok (place, some _) => .ok place
  | .ok (place, none) => if d = .all then .error .notFound else .ok place
  | .error e =>
    if d = .nothing && path ≠ [] then
      -- The longest part of the way that is there is followed; the rest is taken by its names.
      let names := Files.namesOf (Raw.toText path)
      let start : Place := if path.head? = some '/' then [] else v.cwd
      let step (k : Nat) : Option Place :=
        match v.files.walk true Files.maxSteps Files.maxLinks start (names.take k) with
        | .ok (p, some _) => some (withoutDots (p ++ names.drop k))
        | _ => none
      .ok (((List.range (names.length + 1)).reverse.findSome? step).getD (withoutDots (start ++ names)))
    else .error e

/-- A path that leads from one place to another. -/
def relative (base target : Place) : Raw :=
  let common := ((base.zip target).takeWhile fun (a, b) => a = b).length
  let names := List.replicate (base.length - common) ".." ++ target.drop common
  if names.isEmpty then ['.'] else Raw.ofString ("/".intercalate names)

def readlink : Tool Nat := do
  let c ← Tool.call {
    letters := "efmnqsvz"
    long := "canonicalize=f canonicalize-existing=e canonicalize-missing=m no-newline=n quiet=q " ++
      "silent=s verbose=v zero=z" }
  if c.operands.isEmpty then Tool.misuse (Raw.ascii "missing operand")
  let isBare := c.has "n" && c.operands.length = 1
  if c.has "n" && !isBare then
    Tool.warn (Raw.ascii "ignoring --no-newline with multiple arguments")
  let ending := if isBare then [] else if c.has "z" then ['\x00'] else ['\n']
  let mut status := 0
  for path in c.operands do
    let v ← Tool.view
    let answer : Except FileError Raw :=
      match c.last? ["e", "f", "m"] with
      | none =>
        match v.find false path with
        | .ok (_, { content := .link target, .. }) => .ok (Raw.ofString target)
        | .ok _ => .error .invalid
        | .error e => .error e
      | some key =>
        (place v (if key = "e" then .all else if key = "f" then .allButLast else .nothing) path).map
          fun p => Raw.ofString p.path
    match answer with
    | .ok r => Tool.say (r ++ ending)
    | .error e =>
      status := 1
      if c.has "v" then Tool.warnOf (Quoting.ifNeeded path) e
  return status

/-- Whether a place is another one or inside of it. -/
def isWithin (base target : Place) : Bool := base.isPrefixOf target

def realpath : Tool Nat := do
  let c ← Tool.call {
    letters := "eLmPqsz"
    long := "canonicalize-existing=e canonicalize-missing=m logical=L physical=P quiet=q strip=s " ++
      "no-symlinks=s zero=z relative-to:=to relative-base:=base" }
  if c.operands.isEmpty then Tool.misuse (Raw.ascii "missing operand")
  let d : Demand := match c.last? ["e", "m"] with
    | some "e" => .all
    | some _ => .nothing
    | none => .allButLast
  let find (v : View) (path : Raw) : Except FileError Place :=
    if c.has "s" || c.has "L" then do
      let start := if path.head? = some '/' then [] else v.cwd
      let p := withoutDots (start ++ Files.namesOf (Raw.toText path))
      if path = [] then .error .notFound
      else if c.has "s" && d = .allButLast then
        discard <| v.files.locate true [] (Place.path p)
        .ok p
      else if c.has "s" then .ok p
      else place v d (Raw.ofString (Place.path p))
    else place v d path
  let baseOf (key : String) : Tool (Option Place) := do
    match c.value? key with
    | none => return none
    | some path =>
      match find (← Tool.view) path with
      | .ok p => return some p
      | .error e => Tool.fail (Quoting.ifNeeded path ++ Raw.ascii ": " ++ Raw.ascii e.text)
  let base ← baseOf "base"
  let origin ← baseOf "to"
  let mut status := 0
  for path in c.operands do
    match find (← Tool.view) path with
    | .error e =>
      status := 1
      if !c.has "q" then Tool.warnOf (Quoting.ifNeeded path) e
    | .ok p =>
      let isRelative := match base with
        | some b => isWithin b p && (origin.all (isWithin b))
        | none => origin.isSome
      let shown := match isRelative, origin.or base with
        | true, some b => relative b p
        | _, _ => Raw.ofString p.path
      Tool.say (shown ++ [if c.has "z" then '\x00' else '\n'])
  return status

/-! ## Checking -/

/-- Whether a character may stand in names everywhere. -/
def isPortable (c : Char) : Bool := Raw.isLetter c || Raw.isDigit c || c = '.' || c = '-'

def pathchk : Tool Nat := do
  let c ← Tool.call { letters := "pP", long := "portability=both", permutes := false }
  if c.operands.isEmpty then Tool.misuse (Raw.ascii "missing operand")
  let isPosix := c.has "p" || c.has "both"
  let mut status := 0
  for path in c.operands do
    let pieces := Text.cutAt '/' path
    let complain (r : Raw) : Tool Unit := Tool.warn r
    if (c.has "P" || c.has "both") && pieces.any (·.head? = some '-') then
      complain (Raw.ascii "leading '-' in a component of file name " ++ Quoting.always path)
      status := 1
    else if path = [] && (c.has "P" || isPosix) then
      complain (Raw.ascii "empty file name")
      status := 1
    else if isPosix then
      match path.find? fun ch => ch ≠ '/' && !isPortable ch with
      | some ch =>
        complain (Raw.ascii "non-portable character " ++ Quoting.always [ch] ++ Raw.ascii " in file name " ++
          Quoting.always path)
        status := 1
      | none =>
        if 256 ≤ path.length then
          complain (Raw.ascii "limit 255 exceeded by length " ++ Raw.ofNat path.length ++
            Raw.ascii " of file name " ++ Quoting.always path)
          status := 1
        else
          match pieces.find? fun p => 14 < p.length with
          | some p =>
            complain (Raw.ascii "limit 14 exceeded by length " ++ Raw.ofNat p.length ++
              Raw.ascii " of file name component " ++ Quoting.always p)
            status := 1
          | none => pure ()
    else
      match (← Tool.view).locate false path with
      | .error e =>
        if e ≠ .notFound || path = [] then
          complain (Quoting.ifNeeded path ++ Raw.ascii ": " ++ Raw.ascii e.text)
          status := 1
      | .ok _ => pure ()
  return status

end Buildwatch.Machine.Names
