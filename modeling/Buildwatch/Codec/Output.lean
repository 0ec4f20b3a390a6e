import Buildwatch.Data.Record
import Buildwatch.Run.Event
import Buildwatch.Run.State

/-!
# Output as data

Encoding and decoding of what a run reports.
-/

namespace Buildwatch

/-! ## Names of variants -/

/-- The name of a severity. -/
def Severity.name : Severity → String
  | .warning => "warning"
  | .error => "error"

def Severity.all : List Severity := [.warning, .error]

/-- The name of a pipe. -/
def Origin.name : Origin → String
  | .stdout => "stdout"
  | .stderr => "stderr"

def Origin.all : List Origin := [.stdout, .stderr]

/-- The name of a state. -/
def RunState.name : RunState → String
  | .spawning => "Spawning"
  | .running => "Running"
  | .cancelling => "Cancelling"
  | .exited => "Exited"

def RunState.all : List RunState := [.spawning, .running, .cancelling, .exited]

def Severity.toData (s : Severity) : Data := .string s.name

def Severity.ofData? (dialect : Dialect) : Data → Option Severity :=
  Data.variant? dialect Severity.name Severity.all

def Origin.toData (o : Origin) : Data := .string o.name

def Origin.ofData? (dialect : Dialect) : Data → Option Origin :=
  Data.variant? dialect Origin.name Origin.all

def RunState.toData (s : RunState) : Data := .string s.name

def RunState.ofData? (dialect : Dialect) : Data → Option RunState :=
  Data.variant? dialect RunState.name RunState.all

/-! ## Records -/

def Progress.toData (p : Progress) : Data :=
  .record [("completed", .ofNat p.completed.toNat), ("total", .ofNat p.total.toNat)]

def Progress.ofData? (dialect : Dialect) (d : Data) : Option Progress := do
  let f ← Fields.ofData? dialect ["completed", "total"] d
  let completed ← f.required "completed" Data.uint64?
  let total ← f.required "total" Data.uint64?
  some { completed, total }

def BuildResult.toData (r : BuildResult) : Data :=
  .record [("exit_code", .ofOption (fun code => .ofInt code.toInt) r.exitCode),
    ("has_error", .bool r.hasError)]

def BuildResult.ofData? (dialect : Dialect) (d : Data) : Option BuildResult := do
  let f ← Fields.ofData? dialect ["exit_code", "has_error"] d
  let exitCode ← f.nullable "exit_code" Data.int32?
  let hasError ← f.required "has_error" Data.bool?
  some { exitCode, hasError }

/-- A diagnostic can be encoded if its file is text. -/
def Diagnostic.toData? (d : Diagnostic) : Option Data :=
  d.file.text?.map fun file =>
    .record [("file", .string file), ("line", .ofNat d.line.toNat),
      ("column", .ofNat d.column.toNat), ("end_column", .ofNat d.endColumn.toNat),
      ("severity", d.severity.toData), ("message", .string d.message),
      ("context", .ofOption .string d.context)]

def Diagnostic.ofData? (dialect : Dialect) (d : Data) : Option Diagnostic := do
  let f ← Fields.ofData? dialect
    ["file", "line", "column", "end_column", "severity", "message", "context"] d
  let file : Path := ↑(← f.required "file" Data.string?)
  let line ← f.required "line" Data.uint32?
  let column ← f.required "column" Data.uint32?
  let endColumn ← f.required "end_column" Data.uint32?
  let severity ← f.required "severity" (Severity.ofData? dialect)
  let message ← f.required "message" Data.string?
  let context ← f.nullable "context" Data.string?
  some { file, line, column, endColumn, severity, message, context }

end Buildwatch
