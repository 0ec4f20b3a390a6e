import Buildwatch.Machine.Task

/-!
# Changes to files

What a program can change in the tree of files by names, and why a change is refused.
Links at the end of a path are not followed.
-/

namespace Buildwatch.Machine.View

/-! ## Looking -/

def locate (v : View) (follow : Bool) (path : Raw) : Except FileError (Place × Option Node) :=
  v.files.locate follow v.cwd (Raw.toText path)

def find (v : View) (follow : Bool) (path : Raw) : Except FileError (Place × Node) :=
  v.files.find follow v.cwd (Raw.toText path)

def node? (v : View) (follow : Bool) (path : Raw) : Option Node :=
  (v.find follow path).toOption.map (·.2)

def isDirectory (v : View) (path : Raw) : Bool := (v.node? true path).any Node.isDirectory

def names (v : View) (path : Raw) : List Raw :=
  match v.find true path with
  | .ok (place, node) => if node.isDirectory then (v.files.names place).map Raw.ofString else []
  | .error _ => []

/-! ## Changing -/

/-- The files after a change, or why it cannot be made. -/
abbrev Changed := Except FileError Files

def freePlace (v : View) (path : Raw) : Except FileError Place := do
  match ← v.locate false path with
  | (_, some _) => .error .exists
  | (place, none) => .ok place

/-- The rights that something new is given. -/
def masked (v : View) (mode : Nat) : Nat := mode &&& (0o7777 ^^^ v.umask)

def create (v : View) (path : Raw) (content : Content) (mode : Nat) : Changed := do
  let place ← v.freePlace path
  -- A final slash asks for a directory, and there is none yet.
  if path.getLast? = some '/' && content ≠ .directory then .error .notFound
  else .ok (v.files.create place content mode v.now)

def makeDirectory (v : View) (path : Raw) (mode : Nat) : Changed :=
  v.create path .directory (v.masked mode)

def makeLink (v : View) (target path : Raw) : Changed :=
  if target = [] then .error .notFound else v.create path (.link (Raw.toText target)) 0o777

def addName (v : View) (follow : Bool) (path name : Raw) : Changed := do
  let (_, node) ← v.find follow path
  let place ← v.freePlace name
  if node.isDirectory then .error .notPermitted else .ok (v.files.link place node.number v.now)

def removeName (v : View) (path : Raw) : Changed := do
  let (place, node) ← v.find false path
  if node.isDirectory then .error .isDirectory else .ok (v.files.erase place v.now)

def removeDirectory (v : View) (path : Raw) : Changed := do
  let (place, node) ← v.find false path
  if !node.isDirectory then .error .notDirectory
  -- The directory itself has to be named, not the dot in it.
  else if (Files.namesOf (Raw.toText path)).getLast? = some "." && path.getLast? ≠ some '/' then .error .invalid
  else if v.files.names place ≠ [] then .error .notEmpty
  else .ok (v.files.erase place v.now)

/-- Whether a path ends in a name for the directory itself. -/
def endsInDots (path : Raw) : Bool :=
  match (path.reverse.dropWhile (· = '/')) with
  | ['.'] | ['.', '.'] => true
  | '.' :: '/' :: _ | '.' :: '.' :: '/' :: _ => true
  | _ => false

/-- Gives something another name in place of the one that it has. -/
def rename (v : View) (path name : Raw) : Changed := do
  let (source, node) ← v.find false path
  let (target, there) ← v.locate false name
  if endsInDots path || endsInDots name then .error .busy
  else if !node.isDirectory && there.isNone && name.getLast? = some '/' then .error .notDirectory
  else if source = target then .ok v.files
  else if node.isDirectory && source.isPrefixOf target then .error .invalid
  else
    match there with
    | none => .ok (v.files.move source target v.now)
    | some other =>
      -- Two names of one node are both left.
      if other.number = node.number then .ok v.files
      else if node.isDirectory && !other.isDirectory then .error .notDirectory
      else if !node.isDirectory && other.isDirectory then .error .isDirectory
      else if other.isDirectory && v.files.names target ≠ [] then .error .notEmpty
      else .ok (v.files.move source target v.now)

def change (v : View) (follow : Bool) (path : Raw) (f : Node → Node) : Changed := do
  let (_, node) ← v.find follow path
  .ok (v.files.change node.number f)

end Buildwatch.Machine.View
