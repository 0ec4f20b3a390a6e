import Buildwatch.Path

/-!
# Diagnostics

A diagnostic is a compiler message that names a place in a source file. Lines and
columns are counted from zero.
-/

namespace Buildwatch

inductive Severity
  | warning
  | error
  deriving DecidableEq, Repr

structure Diagnostic where
  file : Path
  line : UInt32
  column : UInt32
  /-- The column after the last underlined one. -/
  endColumn : UInt32
  severity : Severity
  /-- The text of the message without the indentation that its lines share. -/
  message : String
  /-- The brackets that follow the severity, as in `[-Wunused-matches]`. -/
  context : Option String
  deriving DecidableEq, Repr

namespace Diagnostic

def sourceName : String := "haskell-build"

/-- The source of the diagnostic: the common name and the context, if there is one. -/
def sourceLabel (d : Diagnostic) : String :=
  match d.context with
  | some context => sourceName ++ ": " ++ context
  | none => sourceName

def underlineLength (d : Diagnostic) : UInt32 := d.endColumn - d.column

/-- The place counted from one, with the last column if more than one is underlined. -/
def location (d : Diagnostic) : String :=
  let place := s!"{d.file.display}:{d.line.toNat + 1}:{d.column.toNat + 1}"
  if d.underlineLength > 1 then s!"{place}-{d.endColumn.toNat}" else place

end Diagnostic

end Buildwatch
