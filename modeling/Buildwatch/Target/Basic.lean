/-!
# Build targets

What a build is asked to build, and what is known of the units of a project.
-/

namespace Buildwatch

/-- What a unit of a project is. -/
inductive UnitKind
  | library
  | executable
  | testSuite
  | benchmark
  deriving DecidableEq, Repr

/-- A part of a project that can be built by itself. -/
structure BuildUnit where
  kind : UnitKind
  name : String
  /-- The name by which build tools know the unit, as in `lib:demo`. -/
  target : String
  deriving DecidableEq, Repr

/-- What a manifest says about its project. -/
structure ProjectDescription where
  name : String
  version : String := ""
  targets : List BuildUnit := []
  deriving DecidableEq, Repr

/-- The project name of targets that name none. -/
def autoProject : String := "Auto"

/-- What the user asks to build. -/
inductive TargetSpec
  | component (project component : String)
  | all (project : String)
  /-- Whatever the file that is being edited belongs to. -/
  | auto (project : String)
  deriving DecidableEq, Repr

instance : Inhabited TargetSpec := ⟨.auto autoProject⟩

/-- The project of a specification. -/
def TargetSpec.project : TargetSpec → String
  | .component project _ | .all project | .auto project => project

/-- What is going to be built. -/
inductive TargetSelection
  | component (project component : String)
  | all (project : String) (units : List BuildUnit)
  | auto (project : String)
  deriving DecidableEq, Repr

end Buildwatch
