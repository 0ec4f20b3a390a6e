import Buildwatch.Diagnostic.Basic

/-!
# The state of a run

A run of a build tool goes from spawning over running to its exit, and may be
cancelled on the way. Beside its state it counts blocks and diagnostics.
-/

namespace Buildwatch

inductive RunState
  | spawning
  | running
  | cancelling
  | exited
  deriving DecidableEq, Repr

/-- The greatest value of a counter; a counter stops there. -/
def maxTally : Nat := 18446744073709551615

/-- One more, up to the greatest value. -/
def bump (tally : Nat) : Nat := min maxTally (tally + 1)

structure Monitor where
  state : RunState := .spawning
  blocks : Nat := 0
  warnings : Nat := 0
  errors : Nat := 0
  deriving DecidableEq, Repr

namespace Monitor

def transition (m : Monitor) (state : RunState) : Monitor := { m with state }

def recordBlock (m : Monitor) : Monitor := { m with blocks := bump m.blocks }

def recordDiagnostic (m : Monitor) : Severity → Monitor
  | .warning => { m with warnings := bump m.warnings }
  | .error => { m with errors := bump m.errors }

def hasError (m : Monitor) : Bool := 0 < m.errors

end Monitor

end Buildwatch
