import Buildwatch.Config.Load
import Buildwatch.Run.Process
import Buildwatch.Target.Manifest

/-!
# Workspaces

A workspace is a host whose files can be looked at. The command line asks it for
everything that lies outside of the program.
-/

namespace Buildwatch

/-- A host with files. -/
class Workspace (ω : Type) extends Host ω where
  /-- What a configuration file holds. -/
  look : ω → Path → ConfigFile.Found
  /-- The path without links and dots of something that is there. -/
  canonical? : ω → Path → Option Path
  isFile : ω → Path → Bool
  listing : ω → Path → Listing
  read : ω → Path → Except IoError (List UInt8)
  /-- Runs a program on an input; there is an output if it ends with exit code zero. -/
  filter : Invocation → List UInt8 → ω → Option (List UInt8) × ω
  /-- Whether the user has asked for the build to stop. -/
  isInterrupted : ω → Bool

namespace Workspace

variable {ω : Type} [Workspace ω]

/-- The content of the manifest of the project at `root`. -/
def manifest (w : ω) (root : Path) : Except TargetError (List UInt8) := do
  let path ← findManifest root (listing w root)
  (read w path).mapError (TargetError.unreadableManifest path)

end Workspace

end Buildwatch
