import Buildwatch.Machine.Raw

/-!
# Scripts

The commands of the shell. A word is a row of parts; which of them are quoted decides
later how it is split and matched against files.
-/

namespace Buildwatch.Machine

/-- What is done with the value of a parameter. With a colon an empty value counts as
none. -/
inductive Treatment (ω : Type)
  | plain
  | length
  | orElse (colon : Bool) (word : ω)
  | orAssign (colon : Bool) (word : ω)
  | orFail (colon : Bool) (word : ω)
  | andThen (colon : Bool) (word : ω)
  | dropFront (longest : Bool) (pattern : ω)
  | dropBack (longest : Bool) (pattern : ω)
  /-- What is asked for makes no sense. -/
  | bad

/-- How a file is opened for a command. -/
inductive Direction
  | input
  | output
  /-- Like output, also where files are not to be lost. -/
  | replace
  | append
  | both
  | duplicate
  deriving DecidableEq, Repr

mutual

inductive Part
  | plain (text : Raw)
  | quoted (text : Raw)
  | parameter (inQuotes : Bool) (name : Raw) (treatment : Treatment (List Part))
  /-- The output of a command. -/
  | output (inQuotes : Bool) (command : Command)
  | arithmetic (inQuotes : Bool) (expression : List Part)

/-- Where an open file of a command comes from. -/
inductive Redirection
  | file (number : Nat) (direction : Direction) (name : List Part)
  /-- A text that stands in the script itself. -/
  | here (number : Nat) (text : List Part)

inductive Command
  | simple (line : Nat) (assignments : List (Raw × List Part)) (words : List (List Part))
      (redirections : List Redirection)
  | pipeline (commands : List Command)
  | negated (c : Command)
  | both (first second : Command)
  | either (first second : Command)
  | sequence (first second : Command)
  | background (c : Command)
  | subshell (c : Command)
  | redirected (c : Command) (redirections : List Redirection)
  | branch (test consequence : Command) (alternative : Option Command)
  | loop (isUntil : Bool) (test body : Command)
  /-- Without words the loop goes over the arguments of the script. -/
  | each (name : Raw) (words : Option (List (List Part))) (body : Command)
  | cases (word : List Part) (arms : List (List (List Part) × Option Command))
  | definition (name : Raw) (body : Command)

end

abbrev Word := List Part

instance : Inhabited Command := ⟨.simple 0 [] [] []⟩

/-- The text that an alias has put into a script. -/
structure Substitute where
  name : Raw
  /-- How much of the script is left behind the text. -/
  left : Nat
  /-- Whether the word behind the text may be an alias too. -/
  opensNext : Bool

/-- What has not been read of a script. -/
structure Script where
  rest : Raw
  line : Nat := 1
  /-- Lines that were taken out ahead of the end of this line. -/
  skipped : Nat := 0
  /-- Names that stand for other texts where a command begins. -/
  aliases : List (Raw × Raw) := []
  /-- The aliases that are being read. -/
  substitutes : List Substitute := []
  /-- Whether the script is that of a file. -/
  isFile : Bool := false

/-- Why a script cannot be read. -/
structure SyntaxError where
  line : Nat
  reason : Raw

def Script.ofRaw (r : Raw) : Script := { rest := r }

end Buildwatch.Machine
