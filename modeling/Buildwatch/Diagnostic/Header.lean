import Buildwatch.Text.Digit
import Buildwatch.Text.Word

/-!
# Message headers

The first line of a compiler message names a place, `file:line:column:`. Where a
line can be read so in several ways, the one with the longest file name counts.
A severity word with a colon and a context in brackets may follow.
-/

namespace Buildwatch

open Text (isDigit isWord)

/-! ## The place -/

/-- A place as it is written, and the text after its last colon. -/
structure Place where
  file : Text
  line : Text
  column : Text
  rest : Text
  deriving DecidableEq, Repr

/-- Reads `:line:column:` at the start of the text. -/
def coordinates? : Text → Option (Text × Text × Text)
  | ':' :: t =>
    match t.dropWhile isDigit with
    | ':' :: u =>
      match u.dropWhile isDigit with
      | ':' :: rest =>
        let line := t.takeWhile isDigit
        let column := u.takeWhile isDigit
        if line ≠ [] ∧ column ≠ [] then some (line, column, rest) else none
      | _ => none
    | _ => none
  | _ => none

/-- The place that the line begins with, the file name being as long as it can be. -/
def Place.ofLine? : Text → Option Place
  | [] => none
  | c :: t =>
    match Place.ofLine? t with
    -- The rest of the line is tried first, so that the last place counts.
    | some place => some { place with file := c :: place.file }
    | none => (coordinates? t).map fun (line, column, rest) => ⟨[c], line, column, rest⟩

/-! ## What follows the place -/

def isGap (c : Char) : Bool := c == ' ' || c == '\t'

/-- Reads a word between blanks and a colon: the word and the text after the colon. -/
def severityWord? (t : Text) : Option (Text × Text) :=
  if t.head?.any isGap then
    let u := t.dropWhile isGap
    let word := u.takeWhile isWord
    match u.dropWhile isWord with
    | ':' :: rest => if word ≠ [] then some (word, rest) else none
    | _ => none
  else none

/-- Reads a non-empty text in brackets: the text with its brackets and what follows. -/
def bracketed? : Text → Option (Text × Text)
  | '[' :: t =>
    -- A newline does not end the brackets.
    let inner := t.takeWhile (· ≠ ']')
    match t.dropWhile (· ≠ ']') with
    | _ :: rest => if inner ≠ [] then some ('[' :: inner ++ [']'], rest) else none
    | [] => none
  | _ => none

/-- What follows the place of a message. -/
structure HeaderTail where
  word : Option Text
  context : Option Text
  /-- The message text, from the header line on. -/
  body : Text
  deriving DecidableEq, Repr

def dropNewline : Text → Text
  | '\n' :: t => t
  | t => t

/-- Reads the severity word, the context and the body of a message. -/
def HeaderTail.ofText (t : Text) : HeaderTail :=
  let (word, t) := match severityWord? t with
    | some (word, rest) => (some word, rest)
    -- Without a colon after it the word belongs to the message.
    | none => (none, t)
  let t := t.dropWhile isGap
  let (context, t) := match bracketed? t with
    | some (context, rest) => (some context, rest)
    | none => (none, t)
  { word, context, body := dropNewline (t.dropWhile isGap) }

end Buildwatch
