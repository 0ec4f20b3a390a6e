import Buildwatch.Command.Basic

/-!
# Configuration

The settings of the build tools, with a default for each of them.
-/

namespace Buildwatch

/-- Arguments for a build tool: some for all commands, some for one each. -/
structure ToolArguments where
  global : List String := []
  build : List String := []
  test : List String := []
  bench : List String := []
  clean : List String := []
  deriving DecidableEq, Repr

def ToolArguments.forCommand (a : ToolArguments) : BuildCommand → List String
  | .build => a.build
  | .test => a.test
  | .bench => a.bench
  | .clean => a.clean

/-- The settings of cabal and of hpack, which may have to run before it. -/
structure CabalConfig where
  program : String := "cabal"
  runHpack : Bool := true
  hpackProgram : String := "hpack"
  arguments : ToolArguments := {}
  deriving DecidableEq, Repr

structure StackConfig where
  program : String := "stack"
  arguments : ToolArguments := {}
  deriving DecidableEq, Repr

/-- The command that describes a manifest. -/
structure ManifestConfig where
  command : List String := ["cabal2json"]
  deriving DecidableEq, Repr

structure BuildConfig where
  /-- The build tool, if one is preferred. -/
  builder : Option Builder := none
  cabal : CabalConfig := {}
  stack : StackConfig := {}
  manifest : ManifestConfig := {}
  deriving DecidableEq, Repr

end Buildwatch
