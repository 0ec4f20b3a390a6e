import Buildwatch.Machine.Raw
import Buildwatch.Path
import Buildwatch.Target.Manifest

/-!
# Files

The files of the machine: names in a tree that lead to nodes. A node may have several
names. A path is walked name by name, and links on the way are followed.
-/

namespace Buildwatch.Machine

/-! ## Nodes -/

/-- Files that are no storage. -/
inductive Device
  /-- Swallows everything and holds nothing. -/
  | null
  /-- Holds zero bytes without end. -/
  | zero
  /-- Holds zero bytes without end, and has no room for others. -/
  | full
  /-- Holds bytes in no order. -/
  | random
  /-- Hands what is written into it to those who read from it. -/
  | fifo
  /-- The terminal, which nobody has. -/
  | terminal
  /-- Stands for an open file of the task that looks at it. -/
  | descriptor (number : Nat)
  deriving DecidableEq, Repr

/-- What a node is. -/
inductive Content
  | file (r : Raw)
  | directory
  | link (target : String)
  | device (d : Device)
  /-- A program that comes with the machine. -/
  | program (name : String)
  deriving DecidableEq, Repr

def Content.kind : Content → EntryKind
  | .file _ | .program _ => .file
  | .directory => .directory
  | .link _ => .link
  | .device _ => .other

/-- A node of the tree. -/
structure Node where
  /-- Tells nodes apart. -/
  number : Nat
  content : Content
  /-- The rights: three bits each for the owner, the group and others, and three more. -/
  mode : Nat
  /-- When the content was changed, in microseconds. -/
  modified : Int
  deriving DecidableEq, Repr

namespace Node

def isDirectory (n : Node) : Bool := n.content = .directory

/-- Whether the node is a file that is kept in storage, or could be. -/
def isFile (n : Node) : Bool :=
  match n.content with
  | .file _ | .program _ => true
  | _ => false

/-- Whether anybody may run the file. -/
def isExecutable (n : Node) : Bool := n.isFile && n.mode &&& 0o111 ≠ 0

def size (n : Node) : Nat :=
  match n.content with
  | .file r => r.length
  | .directory => 4096
  | .link target => target.utf8ByteSize
  | .device _ => 0
  | .program _ => 100000

end Node

/-- A place in the tree: the names on the way from the root. -/
abbrev Place := List String

def Place.path (p : Place) : String := "/" ++ "/".intercalate p

/-- The tree: which node a place leads to, and the nodes by their numbers. -/
structure Files where
  places : List (Place × Nat) := [([], 0)]
  nodes : List (Nat × Node) := [(0, { number := 0, content := .directory, mode := 0o755, modified := 0 })]
  /-- The number of the next node. -/
  counter : Nat := 1

/-! ## Errors -/

/-- Why something cannot be done. -/
inductive FileError
  | notPermitted
  | notFound
  | noDevice
  | notExecutable
  | badDescriptor
  | denied
  | busy
  | exists
  | notDirectory
  | isDirectory
  | invalid
  | noSpace
  | brokenPipe
  | nameTooLong
  | notEmpty
  | tooManyLinks
  deriving DecidableEq, Repr

namespace FileError

/-- The number of the error. -/
def number : FileError → Nat
  | notPermitted => 1
  | notFound => 2
  | noDevice => 6
  | notExecutable => 8
  | badDescriptor => 9
  | denied => 13
  | busy => 16
  | .exists => 17
  | notDirectory => 20
  | isDirectory => 21
  | invalid => 22
  | noSpace => 28
  | brokenPipe => 32
  | nameTooLong => 36
  | notEmpty => 39
  | tooManyLinks => 40

def text : FileError → String
  | notPermitted => "Operation not permitted"
  | notFound => "No such file or directory"
  | noDevice => "No such device or address"
  | notExecutable => "Exec format error"
  | badDescriptor => "Bad file descriptor"
  | denied => "Permission denied"
  | busy => "Device or resource busy"
  | .exists => "File exists"
  | notDirectory => "Not a directory"
  | isDirectory => "Is a directory"
  | invalid => "Invalid argument"
  | noSpace => "No space left on device"
  | brokenPipe => "Broken pipe"
  | nameTooLong => "File name too long"
  | notEmpty => "Directory not empty"
  | tooManyLinks => "Too many levels of symbolic links"

def message (e : FileError) : String := e.text ++ " (os error " ++ toString e.number ++ ")"

def toIoError (e : FileError) : IoError where
  kind :=
    match e with
    | notFound => .notFound
    | denied | notPermitted => .permissionDenied
    | _ => .other
  reason := e.message

end FileError

namespace Files

/-! ## The tree -/

def numbered? (files : Files) (n : Nat) : Option Node := files.nodes.lookup n

def text? (files : Files) (n : Nat) : Option Raw :=
  match (files.numbered? n).map Node.content with
  | some (.file r) => some r
  | _ => none

def node? (files : Files) (p : Place) : Option Node :=
  (files.places.lookup p).bind files.numbered?

def content? (files : Files) (p : Place) : Option Content := (files.node? p).map (·.content)

/-- The tree with a node changed. -/
def change (files : Files) (n : Nat) (f : Node → Node) : Files :=
  { files with nodes := files.nodes.map fun (k, node) => if k = n then (k, f node) else (k, node) }

def setContent (files : Files) (n : Nat) (content : Content) (now : Int) : Files :=
  files.change n fun node => { node with content, modified := now }

/-- Notes that the directory around a place has changed. -/
def touchParent (files : Files) (p : Place) (now : Int) : Files :=
  match files.places.lookup p.dropLast with
  | some n => files.change n fun node => { node with modified := now }
  | none => files

def link (files : Files) (p : Place) (n : Nat) (now : Int) : Files :=
  -- A node that loses its last name stays: it may be open somewhere.
  let places := files.places.filter (fun q => q.1 ≠ p) ++ [(p, n)]
  Files.touchParent { files with places } p now

def create (files : Files) (p : Place) (content : Content) (mode : Nat) (now : Int) : Files :=
  let n := files.counter
  let node : Node := { number := n, content, mode, modified := now }
  Files.link { files with nodes := files.nodes ++ [(n, node)], counter := n + 1 } p n now

/-- The tree without a place and everything below it. -/
def erase (files : Files) (p : Place) (now : Int) : Files :=
  let places := files.places.filter fun (q, _) => !p.isPrefixOf q
  Files.touchParent { files with places } p now

/-- The tree with everything at a place and below it moved to another one, where nothing
else is left. -/
def move (files : Files) (source target : Place) (now : Int) : Files :=
  let moved := files.places.filterMap fun (q, n) =>
    if source.isPrefixOf q then some (target ++ q.drop source.length, n) else none
  -- A directory takes along the names of everything below it.
  let rest := (files.erase source now).erase target now
  Files.touchParent { rest with places := rest.places ++ moved } target now

def placesOf (files : Files) (n : Nat) : List Place :=
  files.places.filterMap fun (p, k) => if k = n then some p else none

def names (files : Files) (p : Place) : List String :=
  let here := files.places.filterMap fun (q, _) =>
    if q ≠ [] && q.dropLast = p then q.getLast? else none
  here.mergeSort fun a b => !(b < a)

/-- The names on the way to everything below a place, in order; a directory comes before what
is in it. -/
def placesIn (files : Files) (p : Place) : List Place :=
  let here := files.places.filterMap fun (q, _) =>
    if q ≠ p && p.isPrefixOf q then some (q.drop p.length) else none
  here.mergeSort fun a b => !(b < a)

/-- The paths of everything below a place, as seen from it, in order. -/
def below (files : Files) (p : Place) : List String :=
  let here := files.places.filterMap fun (q, _) =>
    if q ≠ p && p.isPrefixOf q then some ("/".intercalate (q.drop p.length)) else none
  here.mergeSort fun a b => !(b < a)

/-- The number of names that a node has; a directory is also named by itself and by the
directories in it. -/
def linkCount (files : Files) (n : Node) : Nat :=
  if n.isDirectory then
    match files.placesOf n.number with
    | p :: _ =>
      -- Each directory in it names it by its two dots.
      2 + ((files.names p).filter fun name => files.content? (p ++ [name]) = some .directory).length
    | [] => 0
  else (files.placesOf n.number).length

/-- The tree with the directories on the way to a place. -/
def withParents (files : Files) (p : Place) : Files :=
  (List.range p.length).foldl (fun files n =>
    let q := p.take n
    if (files.node? q).isSome then files else files.create q .directory 0o755 0) files

/-- The tree with a node at a place and directories on the way to it. -/
def install (files : Files) (p : Place) (content : Content) (mode : Nat) : Files :=
  match files.places.lookup p with
  | some n => files.change n fun node => { node with content, mode }
  | none => (files.withParents p).create p content mode 0

/-! ## Walking -/

/-- The names of a path; a final slash asks for a directory. -/
def namesOf (path : String) : List String :=
  let pieces := (Text.cutAt '/' path.toList).map String.ofList
  pieces.filter (· ≠ "") ++ if pieces.getLast? = some "" then ["."] else []

/-- The most links that are followed for one path. -/
def maxLinks : Nat := 40

/-- The most steps that are taken for one path. -/
def maxSteps : Nat := 10000

/-- Goes from a directory along names. The answer is a place and what is there; at the
end of the way there may be nothing. -/
def walk (files : Files) (follow : Bool) :
    (fuel links : Nat) → Place → List String → Except FileError (Place × Option Node)
  | 0, _, _, _ => .error .tooManyLinks
  | _ + 1, _, place, [] => .ok (place, files.node? place)
  | fuel + 1, links, place, "." :: rest => walk files follow fuel links place rest
  -- Above the root is the root.
  | fuel + 1, links, place, ".." :: rest => walk files follow fuel links place.dropLast rest
  | fuel + 1, links, place, name :: rest =>
    if 255 < name.utf8ByteSize then .error .nameTooLong
    else
      let here := place ++ [name]
      match files.node? here with
      | none =>
        -- A slash behind the last name does not matter where nothing is there yet.
        if rest.all (· = ".") && rest.length ≤ 1 then .ok (here, none) else .error .notFound
      | some node =>
        match node.content with
        | .link target =>
          if rest = [] && !follow then .ok (here, some node)
          else
            match links with
            | 0 => .error .tooManyLinks
            | links + 1 =>
              -- A relative target is looked for from the directory that the link is in.
              walk files follow fuel links (if Path.isAbsolute target then [] else place)
                (namesOf target ++ rest)
        | .directory => walk files follow fuel links here rest
        | _ => if rest = [] then .ok (here, some node) else .error .notDirectory

/-- Where a path leads from a directory. All names in the tree are text, so nothing else leads
anywhere, and rights do not stand in the way. -/
def locate (files : Files) (follow : Bool) (cwd : Place) (path : Path) :
    Except FileError (Place × Option Node) :=
  match path.text? with
  | none => .error .notFound
  | some text =>
    if text = "" then .error .notFound
    else if 4096 ≤ text.utf8ByteSize then .error .nameTooLong
    else
      walk files follow maxSteps maxLinks (if path.isAbsolute then [] else cwd) (namesOf text)

def find (files : Files) (follow : Bool) (cwd : Place) (path : Path) :
    Except FileError (Place × Node) := do
  match ← files.locate follow cwd path with
  | (place, some node) => .ok (place, node)
  | (_, none) => .error .notFound

/-! ## Questions -/

def isThere (files : Files) (cwd : Place) (path : Path) : Bool :=
  (files.find true cwd path).toOption.isSome

def isFile (files : Files) (cwd : Place) (path : Path) : Bool :=
  (files.find true cwd path).toOption.any (·.2.isFile)

def isDirectory (files : Files) (cwd : Place) (path : Path) : Bool :=
  (files.find true cwd path).toOption.any (·.2.isDirectory)

/-- The path of the place that a path leads to. -/
def canonical? (files : Files) (cwd : Place) (path : Path) : Option String :=
  (files.find true cwd path).toOption.map (·.1.path)

/-- The content of a file; a device without end is read as empty. -/
def read (files : Files) (cwd : Place) (path : Path) : Except FileError Raw := do
  match (← files.find true cwd path).2.content with
  | .file r => .ok r
  | .directory => .error .isDirectory
  | _ => .ok []

def entry (files : Files) (p : Place) (name : String) : Entry where
  name
  kind :=
    match files.content? (p ++ [name]) with
    | some content => .ok content.kind
    | none => .error FileError.notFound.toIoError

/-- What a directory answers when it is listed. -/
def listing (files : Files) (cwd : Place) (path : Path) : Listing :=
  match files.find true cwd path with
  | .error e => .error e.toIoError
  | .ok (place, node) =>
    if node.isDirectory then .ok ((files.names place).map fun name => .ok (files.entry place name))
    else .error FileError.notDirectory.toIoError

end Files

end Buildwatch.Machine
