import Buildwatch.CommandLine.Basic
import Buildwatch.Machine.Workspace

/-!
# The program

The program builds on a machine of its own. A shell script on the standard input sets the
machine up: what it writes are the files of the project, and the tools that it makes
executable are those that the build finds.
-/

namespace Buildwatch.Rehearsal

open Machine

/-! ## The machine -/

def projectPlace : Machine.Place := ["work"]

/-- The variables that the script, the program and its tools see. -/
def environment : List (String × String) :=
  [("PATH", "/work/bin:/usr/bin:/bin"), ("HOME", "/home")]

/-- The machine before the script has run. -/
def bareMachine : Launcher where
  state := { files := standardFiles.install projectPlace .directory 0o755 }
  home := projectPlace
  environment := environment

/-- The machine that a script sets up; there is none if the script fails. -/
def machineOf? (script : List UInt8) : Option Launcher :=
  match Launcher.filter ⟨"sh", []⟩ script bareMachine with
  | (some _, l) => some l
  | (none, _) => none

/-! ## The build -/

/-- The time at which the clock of the machine stands. -/
def standingTime : String := "1970-01-01T00:00:00.000000Z"

def usage : String :=
  "Usage: " ++ CommandLine.programName ++ " [OPTIONS] <build|test|bench|clean>"

/-- Builds on the machine that a script sets up. -/
def transcript (script : List UInt8) (args : List String) : CommandLine.Transcript :=
  match machineOf? script with
  | some l => (CommandLine.run standingTime environment .never args l).1
  | none => .failed "The machine could not be set up"

end Buildwatch.Rehearsal

/-! ## Input and output -/

partial def readToEnd (input : IO.FS.Stream) (sofar : ByteArray) : IO ByteArray := do
  let piece ← input.read 8192
  if piece.isEmpty then return sofar
  readToEnd input (sofar ++ piece)

def main (args : List String) : IO UInt32 := do
  let request := Buildwatch.CommandLine.Request.ofArguments args
  let script ← match request with
    -- Whoever asks for help or for the version is not made to type a script.
    | .build _ => readToEnd (← IO.getStdin) ByteArray.empty
    | _ => pure ByteArray.empty
  let transcript := Buildwatch.Rehearsal.transcript script.toList args
  let (output, errors) := (← IO.getStdout, ← IO.getStderr)
  for line in transcript.lines do
    output.putStrLn line
  for message in transcript.error do
    errors.putStrLn (Buildwatch.Display.errorLine message)
  match request with
  | .showHelp => output.putStrLn Buildwatch.Rehearsal.usage
  | .misused => errors.putStrLn Buildwatch.Rehearsal.usage
  | _ => pure ()
  return transcript.status.toUInt32
