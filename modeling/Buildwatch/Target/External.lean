import Buildwatch.Codec.Target
import Buildwatch.Json.Reader
import Buildwatch.Workspace

/-!
# Manifest parsers that are programs

A program reads the manifest and answers in JSON. Whatever goes wrong with it, the
answer is that nothing is known.
-/

namespace Buildwatch.ExternalParser

variable {ω : Type} [Workspace ω]

/-- The name of a file as the program is told it: with slashes between its names. -/
def spellFile (file : String) : String :=
  String.ofList (file.toList.map fun c => if c = '\\' then '/' else c)

/-- What the program answers for a manifest; the file follows its other arguments. -/
def ask (command : List String) (manifest : List UInt8) (file : Option String) (w : ω) :
    Option (List UInt8) × ω :=
  match command with
  | [] => (none, w)
  | program :: args =>
    Workspace.filter { program, args := args ++ (file.map spellFile).toList } manifest w

/-- The description in an answer; the program may say that there is none. -/
def description? (answer : List UInt8) : Option ProjectDescription :=
  ((Json.parseBytes? answer).bind (Data.nullable? (ProjectDescription.ofData? .json))).join

/-- The units in an answer. -/
def units? (answer : List UInt8) : Option (List String) :=
  (Json.parseBytes? answer).bind (Data.list? Data.string?)

/-- The parser that runs a command: a program followed by its arguments. -/
def parser (command : List String) : ManifestParser ω where
  describe manifest w :=
    let (answer, w) := ask command manifest none w
    (answer.bind description?, w)
  unitsOf manifest file w :=
    let (answer, w) := ask command manifest (some file) w
    ((answer.bind units?).getD [], w)

end Buildwatch.ExternalParser
