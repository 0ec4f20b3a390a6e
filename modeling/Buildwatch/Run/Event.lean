import Buildwatch.Diagnostic.Parse
import Buildwatch.Progress

/-!
# Events and results

What a run tells its caller: the progress and the messages of the tool while it
runs, and a result at the end.
-/

namespace Buildwatch

/-- The pipe that a block was read from. -/
inductive Origin
  | stdout
  | stderr
  deriving DecidableEq, Repr

structure OutputBlock where
  origin : Origin
  text : Text
  deriving DecidableEq, Repr

/-- Something that a build tool has reported. -/
inductive BuildEvent
  | progress (progress : Progress)
  /-- A block, and the diagnostic that it is, if it is one. -/
  | message (block : OutputBlock) (diagnostic : Option Diagnostic)
  deriving DecidableEq, Repr

namespace BuildEvent

def diagnostic? : BuildEvent → Option Diagnostic
  | .progress _ => none
  | .message _ diagnostic => diagnostic

def isError (e : BuildEvent) : Bool := e.diagnostic?.any (·.severity = .error)

/-- The events of a block: its progress, if it has any, and the message. -/
def ofBlock (baseDir : Path) (block : OutputBlock) : List BuildEvent :=
  ((Progress.ofBlock? block.text).map .progress).toList ++
    [.message block (Diagnostic.ofBlock? baseDir block.text)]

end BuildEvent

/-! ## Results -/

/-- How a build ended: the exit code, which a killed tool does not have, and
whether an error in the sources was reported. -/
structure BuildResult where
  exitCode : Option Int32
  hasError : Bool
  deriving DecidableEq, Repr

/-- What a result means to the user. -/
inductive Outcome
  | success
  | sourceErrors
  | toolFailure (exitCode : Int32)
  | interrupted
  deriving DecidableEq, Repr

namespace BuildResult

def success : BuildResult := { exitCode := some 0, hasError := false }

def succeeded (r : BuildResult) : Bool := r.exitCode = some 0

/-- The meaning of the result. An exit code of zero wins over reported errors. -/
def outcome (r : BuildResult) : Outcome :=
  match r.exitCode with
  -- Only a tool that was killed has no exit code, and whoever cancels a build kills it.
  | none => .interrupted
  | some code =>
    if code = 0 then .success else if r.hasError then .sourceErrors else .toolFailure code

end BuildResult

def Outcome.text : Outcome → String
  | .success => "Build finished"
  | .sourceErrors => "Build failed with errors in source"
  | .toolFailure code => s!"Builder quit abnormally with exit code {code.toInt}"
  | .interrupted => "Build interrupted"

end Buildwatch
