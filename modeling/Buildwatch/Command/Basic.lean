import Buildwatch.Command.Quoted

/-!
# Commands

The programs that a build runs, and the commands of the user that ask for them.
-/

namespace Buildwatch

/-- What the user asks the build tool to do. -/
inductive BuildCommand
  | build
  | test
  | bench
  | clean
  deriving DecidableEq, Repr

def BuildCommand.all : List BuildCommand := [.build, .test, .bench, .clean]

def BuildCommand.verb : BuildCommand → String
  | .build => "build"
  | .test => "test"
  | .bench => "bench"
  | .clean => "clean"

/-- The build tool to use; without one there is nothing to run. -/
inductive Builder
  | cabalV2
  | stack
  | none
  deriving DecidableEq, Repr

def Builder.all : List Builder := [.cabalV2, .stack, .none]

def Builder.name : Builder → String
  | .cabalV2 => "cabal-v2"
  | .stack => "stack"
  | .none => "none"

structure Invocation where
  program : String
  args : List String
  deriving DecidableEq, Repr

/-- The invocation as a line for a shell. -/
def Invocation.commandLine (i : Invocation) : String :=
  String.ofList (Quoted.line ((i.program :: i.args).map String.toList))

/-- The place of a step in a build. -/
inductive StepKind
  /-- Must succeed for the steps after it to run. -/
  | prepare
  | main
  deriving DecidableEq, Repr

structure Step where
  kind : StepKind
  invocation : Invocation
  deriving DecidableEq, Repr

end Buildwatch
