import Buildwatch.Command.Basic
import Buildwatch.Run.Event
import Buildwatch.Codec.Output

/-!
# Display

The lines that the command line prints. They are always coloured: a style is an
escape sequence before the text and one after it.
-/

namespace Buildwatch.Display

/-! ## Styles -/

/-- The colours in use, by their number on the terminal. -/
inductive Colour
  | red
  | green
  | yellow
  | blue
  | cyan
  deriving DecidableEq, Repr

def Colour.code : Colour → Nat
  | .red => 31
  | .green => 32
  | .yellow => 33
  | .blue => 34
  | .cyan => 36

def escapeCode (n : Nat) : String := "\x1b[" ++ toString n ++ "m"

/-- Text in a colour; the default colour comes back after it. -/
def coloured (c : Colour) (s : String) : String := escapeCode c.code ++ s ++ escapeCode 39

def bold (s : String) : String := escapeCode 1 ++ s ++ escapeCode 0

def dimmed (s : String) : String := escapeCode 2 ++ s ++ escapeCode 0

def tag (c : Colour) (name : String) : String := bold (coloured c ("[" ++ name ++ "]"))

/-! ## Lines -/

def stamped (time : String) (c : Colour) (name text : String) : String :=
  dimmed time ++ " " ++ tag c name ++ " " ++ text

def invocationLine (time : String) (i : Invocation) : String :=
  stamped time .blue "RUN" (coloured .cyan i.commandLine)

def progressLine (time : String) (p : Progress) : String := stamped time .blue "PROGRESS" p.text

/-- The lines that show a diagnostic: a heading and the message, indented. -/
def diagnosticLines (d : Diagnostic) : List String :=
  let heading := match d.severity with
    | .error => tag .red "ERROR"
    | .warning => tag .yellow "WARNING"
  (heading ++ " " ++ bold d.location ++ " " ++ dimmed d.sourceLabel) ::
    (Text.visibleLines d.message.toList).map fun line => "    " ++ String.ofList line

/-- The line that shows a block that is no diagnostic, if there is anything to see. -/
def blockLine? (block : OutputBlock) : Option String :=
  -- An empty block comes from a pipe without output.
  if Text.allBlank block.text then none
  else some (dimmed ("[" ++ block.origin.name ++ "]") ++ " " ++
    String.ofList (Text.trimEnd block.text))

def eventLines (time : String) : BuildEvent → List String
  | .progress p => [progressLine time p]
  | .message _ (some d) => diagnosticLines d
  | .message block none => (blockLine? block).toList

def outcomeLine (time : String) (o : Outcome) : String :=
  let colour : Colour := match o with
    | .success => .green
    | .sourceErrors | .toolFailure _ => .red
    | .interrupted => .yellow
  stamped time colour "BUILD" (coloured colour o.text)

def errorLine (message : String) : String := tag .red "ERROR" ++ " " ++ message

end Buildwatch.Display
