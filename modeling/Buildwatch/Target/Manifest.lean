import Buildwatch.IoError
import Buildwatch.Path
import Buildwatch.Target.Basic

/-!
# Manifests and targets

Finding the manifest of a project and making a selection of what the user asks
for. A parser describes the manifest; what it is asked, and in which order, is
part of the result.
-/

namespace Buildwatch

/-! ## Finding the manifest -/

/-- What a directory entry is. A link is an entry of its own, wherever it leads. -/
inductive EntryKind
  | file
  | directory
  | link
  /-- A device, a pipe or a socket. -/
  | other
  deriving DecidableEq, Repr

structure Entry where
  name : Path
  /-- What the entry is, if the system tells. -/
  kind : Except IoError EntryKind

/-- The answers of a directory that is listed, entry by entry. Some may be errors, and the
directory may not be there at all. -/
abbrev Listing := Except IoError (List (Except IoError Entry))

/-- The entries up to the first error, which ends a listing. -/
def listed : List (Except IoError Entry) → List Entry
  | .ok e :: answers => e :: listed answers
  | .error _ :: _ | [] => []

def manifestExtension : String := "cabal"

def Entry.isRegularFile (e : Entry) : Bool :=
  match e.kind with
  | .ok .file => true
  | _ => false

def Entry.isManifest (e : Entry) : Bool :=
  e.isRegularFile && Path.hasExtension manifestExtension e.name

def smallerName (a b : Path) : Path := if b.bytes < a.bytes then b else a

/-- The name of the manifest in a directory: the smallest one, if there are several. -/
def manifestName? (entries : List Entry) : Option Path :=
  match (entries.filter Entry.isManifest).map Entry.name with
  | [] => none
  | name :: names => some (names.foldl smallerName name)

/-- Why a target could not be resolved. -/
inductive TargetError
  | noManifest (root : Path)
  | unreadableManifest (path : Path) (e : IoError)
  deriving DecidableEq, Repr

/-- The sentence that reports the error. -/
def TargetError.message : TargetError → String
  | .noManifest root => s!"No .cabal file found in {root.display}"
  | .unreadableManifest path e => s!"Could not read {path.display}: {e.reason}"

/-- The manifest of the project at `root`, which is listed. -/
def findManifest (root : Path) (listing : Listing) : Except TargetError Path :=
  -- An error in the middle is not reported: what was listed before it counts.
  match listing.toOption.bind (manifestName? ∘ listed) with
  | some name => .ok (Path.join root name)
  | none => .error (.noManifest root)

/-! ## Resolving targets -/

/-- A parser of manifests; each question may change its state `ω`. -/
structure ManifestParser (ω : Type) where
  describe : (manifest : List UInt8) → ω → Option ProjectDescription × ω
  /-- The units that a file of the project belongs to. -/
  unitsOf : (manifest : List UInt8) → (file : String) → ω → List String × ω

/-- All units of the project, as far as the manifest can be described. -/
def ManifestParser.selectAll {ω : Type} (parser : ManifestParser ω) (project : String)
    (manifest : List UInt8) (world : ω) : TargetSelection × ω :=
  match parser.describe manifest world with
  | (some d, world) => (.all d.name d.targets, world)
  | (none, world) => (.auto project, world)

/-- The first unit that the active file belongs to, if it lies in the project. -/
def ManifestParser.selectActive {ω : Type} (parser : ManifestParser ω) (project : String)
    (root : Path) (activeFile : Option Path) (manifest : List UInt8) (world : ω) :
    TargetSelection × ω :=
  match activeFile.bind (Path.relativeTo? root) with
  | none => (.auto project, world)
  | some file =>
    match parser.unitsOf manifest file world with
    | ([], world) => (.auto project, world)
    | (unit :: _, world) =>
      match parser.describe manifest world with
      | (some d, world) => (.component d.name unit, world)
      | (none, world) => (.auto project, world)

/-- A selection that needs the manifest: without one nobody is asked. -/
def selectWith {ω : Type} (manifest : Except TargetError (List UInt8)) (world : ω)
    (select : List UInt8 → ω → TargetSelection × ω) : Except TargetError TargetSelection × ω :=
  match manifest with
  | .error e => (.error e, world)
  | .ok m =>
    let (selection, world) := select m world
    (.ok selection, world)

/-- Makes a selection for a project. Its manifest, or why there is none, is looked at
only if the specification does not name a component. -/
def resolveTarget {ω : Type} (parser : ManifestParser ω) (root : Path) (activeFile : Option Path)
    (manifest : Except TargetError (List UInt8)) (world : ω) :
    TargetSpec → Except TargetError TargetSelection × ω
  | .component project component => (.ok (.component project component), world)
  | .all project => selectWith manifest world (parser.selectAll project)
  | .auto project => selectWith manifest world (parser.selectActive project root activeFile)

end Buildwatch
