import Buildwatch.Front
import Buildwatch.Text.Utf8

/-!
# Paths

Paths and the names in them are bytes, as the system has them, and need not be text. Two
spellings are compared by their components: repeated and final slashes and inner dots make no
difference, and two dots are a name of their own.
-/

namespace Buildwatch

/-- A path, or a name in one. -/
@[ext]
structure Path where
  bytes : List UInt8
  deriving DecidableEq, Repr

namespace Path

/-! ## Paths and text -/

def ofString (s : String) : Path := ⟨Utf8.encode s.toList⟩

-- What is written in the program, or comes as an argument, is text.
instance : Coe String Path := ⟨ofString⟩

/-- The text that the path is, unless it is none. -/
def text? (path : Path) : Option String := (Utf8.decode? path.bytes).map String.ofList

/-- The path as it is shown, with a replacement character for what is no text. -/
def display (path : Path) : String := String.ofList (Utf8.decodeLossy path.bytes)

/-! ## Components -/

def slash : UInt8 := 0x2F

def dot : UInt8 := 0x2E

instance : Append Path := ⟨fun path more => ⟨path.bytes ++ more.bytes⟩⟩

/-- Whether the path starts at the root. -/
def isAbsolute (path : Path) : Bool := path.bytes.head? == some slash

/-- The path as seen from `base`; an absolute path stays as it is. -/
def join (base path : Path) : Path :=
  if isAbsolute path || base.bytes.isEmpty then path
  else if base.bytes.getLast? == some slash then base ++ path
  else base ++ "/" ++ path

/-- The components of a path: `/` for the root, `.` only at the start of a relative
path, and the names between the slashes. -/
def components (path : Path) : List Path :=
  let pieces := (Text.cutAt slash path.bytes).filter (· ≠ [])
  let names := (pieces.filter (· ≠ [dot])).map Path.mk
  if isAbsolute path then "/" :: names
  else if pieces.head? = some [dot] then "." :: names
  else names

/-- The path of `file` as seen from `root`, if it lies there. -/
def relativeTo? (root file : Path) : Option String :=
  -- The names are found as bytes; only what is told of them is text.
  (dropFront? (components root) (components file)).map fun names =>
    "/".intercalate (names.map display)

/-- Whether a file name is a non-empty stem followed by a dot and `extension`. -/
def hasExtension (extension : String) (name : Path) : Bool :=
  let suffix := dot :: (ofString extension).bytes
  suffix.isSuffixOf name.bytes && suffix.length < name.bytes.length

end Path

end Buildwatch
